import SqlAssembly.Fields

/-! # The cache of quoted literals

Quoting a text asks the database, so a session keeps what it was told.  The cache holds
a bounded number of literals that are not too long; when it is full, the literal that has
been there longest gives way.
-/

namespace SqlAssembly

/-- Quoted literals, and the order in which they came. -/
structure LiteralCache where
  -- The number of literals that are kept; zero keeps none.
  capacity : Nat
  maxBytes : Nat
  table : Fields String
  -- The literals that are held, the oldest first.
  queue : List String
  deriving DecidableEq, Repr

namespace LiteralCache

def empty (capacity maxBytes : Nat) : LiteralCache := ⟨capacity, maxBytes, .empty, []⟩

def accepts (cache : LiteralCache) (literal : String) : Bool :=
  0 < cache.capacity && literal.utf8ByteSize ≤ cache.maxBytes

def get? (cache : LiteralCache) (literal : String) : Option String :=
  cache.table.get? literal

/-- Takes the oldest literals out of a table and its queue until the table is within a
capacity. -/
def dropOldest (capacity : Nat) (table : Fields String) :
    List String → Fields String × List String
  | [] => (table, [])
  | oldest :: queue =>
    if capacity < table.size then dropOldest capacity (table.erase oldest) queue
    else (table, oldest :: queue)

/-- Whether a literal is put in: it is one that is kept, and is not held already. -/
def takes (cache : LiteralCache) (literal : String) : Bool :=
  cache.accepts literal && (cache.get? literal).isNone

/-- Puts a literal in, if the cache takes it.  The oldest literals beyond the capacity are
dropped. -/
def insert (cache : LiteralCache) (literal quoted : String) : LiteralCache :=
  if cache.takes literal then
    let (table, queue) :=
      dropOldest cache.capacity (cache.table.set literal quoted) (cache.queue ++ [literal])
    { cache with table := table, queue := queue }
  else cache

def size (cache : LiteralCache) : Nat := cache.table.size

end LiteralCache

end SqlAssembly
