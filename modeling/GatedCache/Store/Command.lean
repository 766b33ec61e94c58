import GatedCache.Failure
import GatedCache.Store

/-!
Commands to a store and its answers. A store refuses an expiry that it cannot hold and changes
nothing then; giving an expiry to a key that is absent is no failure and has no effect.
-/
namespace GatedCache

inductive Command where
  | set (key value : String)
  | setFor (key : String) (seconds : Int) (value : String)
  | get (key : String)
  | delete (key : String)
  | has (key : String)
  | expire (key : String) (seconds : Int)
  | ttl (key : String)
  | flush
  | ping
  | close
  deriving DecidableEq

namespace Command

def word : Command → String
  | set _ _ => "set"
  | setFor _ _ _ => "setex"
  | get _ => "get"
  | delete _ => "delete"
  | has _ => "exists"
  | expire _ _ => "expire"
  | ttl _ => "ttl"
  | flush => "flushdb"
  | ping => "ping"
  | close => "aclose"

def arguments : Command → List Value
  | set key value => [.text key, .text value]
  | setFor key seconds value => [.text key, .int seconds, .text value]
  | get key | delete key | has key | ttl key => [.text key]
  | expire key seconds => [.text key, .int seconds]
  | flush | ping | close => []

end Command

abbrev Outcome := Except Failure Value

namespace Store

def longestExpiry : Int := 9223372036854775

def invalidExpiry (word : String) : Failure :=
  .store .response ("invalid expire time in \x27" ++ word ++ "\x27 command")

/-- The seconds that an entry has left; minus one stands for no deadline. -/
def remaining (now : Int) (e : Entry) : Int :=
  match e.deadline with
  | none => -1
  | some d => d - now

def count (b : Bool) : Value := .int (if b then 1 else 0)

/-- Sets the deadline of a present entry; a deadline that has passed removes it. -/
def expireEntry (s : Store) (key : String) (e : Entry) (seconds : Int) : Store :=
  if seconds ≤ 0 then s.erase key
  else s.insert key { e with deadline := some (s.now + seconds) }

def answer (s : Store) : Command → Outcome × Store
  | .set key value => (.ok (.bool true), s.insert key ⟨value, none⟩)
  | .setFor key seconds value =>
    if seconds ≤ 0 ∨ longestExpiry < seconds then (.error (invalidExpiry "setex"), s)
    else (.ok (.bool true), s.insert key ⟨value, some (s.now + seconds)⟩)
  | .get key => (.ok (Value.ofText? ((s.find? key).map Entry.value)), s)
  | .delete key => (.ok (count (s.contains key)), s.erase key)
  | .has key => (.ok (count (s.contains key)), s)
  | .expire key seconds =>
    if longestExpiry < seconds.natAbs then (.error (invalidExpiry "expire"), s)
    else
      match s.find? key with
      | none => (.ok (.bool false), s)
      | some e => (.ok (.bool true), s.expireEntry key e seconds)
  | .ttl key =>
    match s.find? key with
    | none => (.ok (.int (-2)), s)
    | some e => (.ok (.int (remaining s.now e)), s)
  | .flush => (.ok (.bool true), s.clear)
  | .ping => (.ok (.bool true), s)
  | .close => (.ok .null, s)

end Store
end GatedCache
