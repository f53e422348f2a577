import Chronicle.Database.Driver
import Chronicle.Value.Order

/-!
# Engines

An engine reaches a database through a pool of connections. It is set up from an address, the sizes
of the pool and a way of echoing statements; nothing connects before the engine is used, so most of
what it is given is kept as it is.

## Main definitions

* `Pool` — the sizes of a pool.
* `Echo` — ways of echoing statements.
* `Engine`, `Engine.ofAddress` — engines and how one is set up.
-/

namespace Chronicle

/-! ## Pools -/

/-- The sizes of a pool of connections. -/
structure Pool where
  size : Value := .int 5
  /-- The number of connections beyond the size. -/
  maxOverflow : Value := .int 2
  /-- The seconds to wait for a connection. -/
  timeout : Value := .int 30

namespace Pool

/-- The pool that is kept for given sizes: one of size zero has no limit, which is written as an
overflow of minus one. -/
def ofSizes (sizes : Pool) : Except EngineFault Pool :=
  match sizes.size.number? with
  | none => .error (.notASize sizes.size)
  | some n => .ok (if n.same (.ofInt 0) then { sizes with maxOverflow := .int (-1) } else sizes)

end Pool

/-! ## Echoing -/

/-- Which statements are echoed. -/
inductive Echo where
  | off
  | on
  /-- The statements with the rows they return. -/
  | debug
  deriving DecidableEq, Repr

namespace Echo

/-- The way of echoing that a value stands for: null and zero for none, one for the statements. -/
def ofValue : Value → Except EngineFault Echo
  | .null => .ok off
  | .text s => if s = "debug" then .ok debug else .error (.unknownEcho (.text s))
  | .list items => .error (.compoundEcho (.list items))
  | .object fields => .error (.compoundEcho (.object fields))
  | v =>
    if v.same (.int 0) then .ok off
    else if v.same (.int 1) then .ok on
    else .error (.unknownEcho v)

def toValue : Echo → Value
  | off => .bool false
  | on => .bool true
  | debug => .text "debug"

end Echo

/-! ## Engines -/

/-- An engine. Connections are tried before use; sessions keep what they read after a commit and
write only when told to. -/
structure Engine where
  address : Address
  pool : Pool
  echo : Echo
  prePing : Bool := true
  expireOnCommit : Bool := false
  autoflush : Bool := false

namespace Engine

/-- The kind of database: the scheme up to a plus sign. -/
def dialect (e : Engine) : String := (e.address.scheme.takeWhile (· != '+')).toString

/-- The name of the driver: the scheme after the plus sign. -/
def driver (e : Engine) : String := ((e.address.scheme.dropWhile (· != '+')).drop 1).toString

def pluginOptions : List String := ["plugin", "plugins"]

/-- Fails for an address that asks for a plugin, for none is known. -/
def checkPlugins (a : Address) : Except EngineFault Unit :=
  match a.option? "plugin" with
  | some (name :: _) => .error (.unknownPlugin "plugins" name)
  | _ => .ok ()

def withoutPlugins (a : Address) : Address :=
  { a with query := a.query.filter fun entry => !pluginOptions.contains entry.1 }

def ofAddress (a : Address) (sizes : Pool) (echo : Value) : Except EngineFault Engine := do
  checkPlugins a
  let a := withoutPlugins a
  let driver ← Driver.ofScheme a.scheme
  driver.check a
  let pool ← Pool.ofSizes sizes
  let echo ← Echo.ofValue echo
  if driver = .file then throw (.waitingDriver "pysqlite")
  return { address := a, pool, echo }

end Engine

end Chronicle
