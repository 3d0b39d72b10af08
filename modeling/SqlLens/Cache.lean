import SqlLens.Error
import SqlLens.Node.Sql

namespace SqlLens

-- A text is parsed anew for every dialect.
structure Cache.Key where
  text    : String
  dialect : Dialect
deriving DecidableEq, Hashable, Repr

-- A choice of entries that have to go, by the hashes of their keys.
structure Cache.Eviction where
  pick        : Nat → List UInt64 → List UInt64
  pick_sub    : ∀ n hashes, (pick n hashes).Sublist hashes
  pick_length : ∀ n hashes, (pick n hashes).length = min n hashes.length

-- The entries that have been there longest.
def Cache.Eviction.oldest : Cache.Eviction where
  pick := List.take
  pick_sub := List.take_sublist
  pick_length _ _ := List.length_take

-- Only the hashes of keys are stored, so keys with the same hash share an entry.
structure Cache where
  maxSize : Nat
  hash    : Cache.Key → UInt64 := Hashable.hash
  entries : List (UInt64 × List Node) := []

namespace Cache

def hashes (c : Cache) : List UInt64 := c.entries.map (·.1)

def size (c : Cache) : Nat := c.entries.length

def isEmpty (c : Cache) : Bool := c.entries.isEmpty

def get? (c : Cache) (key : Key) : Option (List Node) := c.entries.lookup (c.hash key)

def erase (c : Cache) (gone : List UInt64) : Cache :=
  { c with entries := c.entries.filter fun e => !gone.contains e.1 }

-- A full cache gives up half of its bound; nothing, if the bound is less than two.
def evicted (e : Eviction) (c : Cache) : List UInt64 :=
  if c.maxSize ≤ c.size then e.pick (c.maxSize / 2) c.hashes else []

def makeRoom (e : Eviction) (c : Cache) : Cache := c.erase (c.evicted e)

-- An entry that is there keeps its place.
def put (c : Cache) (key : Key) (statements : List Node) : Cache :=
  let hash := c.hash key
  if c.hashes.contains hash then
    { c with entries := c.entries.map fun e => if e.1 == hash then (hash, statements) else e }
  else { c with entries := c.entries ++ [(hash, statements)] }

def insert (e : Eviction) (c : Cache) (key : Key) (statements : List Node) : Cache :=
  (c.makeRoom e).put key statements

-- The statements of a text. Those of a text that is no SQL are not stored.
def parse (e : Eviction) (c : Cache) (key : Key) : Except Error (List Node) × Cache :=
  match c.get? key with
  | some statements => (.ok statements, c)
  | none =>
    match Node.ofSql key.dialect key.text with
    | .ok statements => (.ok statements, c.insert e key statements)
    | .error fault => (.error fault, c)

-- The cache that a program keeps while it runs.
def standard : Cache := { maxSize := 1000 }

end Cache

end SqlLens
