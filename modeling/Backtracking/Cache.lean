import Backtracking.Regexp

/-!
# Cache of regular expressions

A cache keeps the regular expressions that were asked for last, up to its capacity, under the
delimited patterns they were compiled from.  A new one takes the place of the one that was not asked
for the longest.  Patterns that are refused are not kept.
-/

namespace Backtracking

/-- A regular expression as it was compiled by a cache, with the number of those that were compiled
before it. -/
structure CachedRegexp where
  serial : Nat
  regexp : Regexp
deriving DecidableEq

/-- Regular expressions under their delimited patterns, in the order in which they were last asked
for. -/
structure Cache where
  entries : List (List Char × CachedRegexp) := []
  capacity : Nat := 1024
  limits : Limits := {}
  compiled : Nat := 0
deriving DecidableEq

namespace Cache

def ofCapacity (capacity : Nat) : Cache := { capacity := capacity }

def size (cache : Cache) : Nat := cache.entries.length

def isEmpty (cache : Cache) : Bool := cache.entries.isEmpty

/-- The patterns of the entries, the one asked for last at the end. -/
def keys (cache : Cache) : List (List Char) := cache.entries.map (·.1)

def find? (cache : Cache) (text : List Char) : Option CachedRegexp :=
  cache.entries.lookup text

/-- Adds an entry, and removes as many of the oldest as the capacity demands.  A cache without
capacity stays empty. -/
def insert (cache : Cache) (text : List Char) (cached : CachedRegexp) : Cache :=
  if cache.capacity = 0 then cache
  else
    let surplus := cache.size + 1 - cache.capacity
    { cache with entries := cache.entries.drop surplus ++ [(text, cached)] }

/-- Makes an entry the one that was asked for last. -/
def refresh (cache : Cache) (text : List Char) (cached : CachedRegexp) : Cache :=
  { cache with entries := cache.entries.filter (·.1 != text) ++ [(text, cached)] }

/-- The regular expression of a delimited pattern, which is compiled if it is not kept. -/
def get (cache : Cache) (text : List Char) : Except CompileError CachedRegexp × Cache :=
  match cache.find? text with
  | some cached => (.ok cached, cache.refresh text cached)
  | none =>
      match Regexp.parse text with
      | .error error => (.error error, cache)
      | .ok regexp =>
          let cached := ⟨cache.compiled, { regexp with limits := cache.limits }⟩
          (.ok cached, { cache with compiled := cache.compiled + 1 }.insert text cached)

def clear (cache : Cache) : Cache := { cache with entries := [] }

/-- The limits of what is compiled from now on.  What was compiled before is removed. -/
def withLimits (cache : Cache) (limits : Limits) : Cache :=
  { cache.clear with limits := limits }

end Cache

end Backtracking
