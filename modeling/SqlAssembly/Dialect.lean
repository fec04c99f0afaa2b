import SqlAssembly.Text.Basic

/-! # Dialects

A dialect decides how identifiers are quoted and which words the statements use that
databases spell differently.  Literals are not its concern: values are bound, and a
literal is quoted by the database itself.
-/

namespace SqlAssembly

inductive Dialect where
  | generic
  -- MySQL with backtick identifiers.
  | mysql
  -- MySQL for a server that reads double quotes as identifier quotes.
  | mysqlAnsi
  | sqlite
  deriving DecidableEq, Repr

namespace Dialect

/-- The dialect's name; the two forms of MySQL share one. -/
def name : Dialect → String
  | .generic => "generic"
  | .mysql => "mysql"
  | .mysqlAnsi => "mysql"
  | .sqlite => "sqlite"

def identifierQuote : Dialect → Char
  | .mysql => '\x60'
  | _ => '"'

def placeholder : Dialect → String
  | _ => "?"

/-- Whether the segments of a dotted name are quoted one by one. -/
def quotesDotted : Dialect → Bool
  | .sqlite => false
  | _ => true

def replaceKeyword : Dialect → String
  | .sqlite => "INSERT OR REPLACE INTO"
  | _ => "REPLACE INTO"

def ignoreKeyword : Dialect → String
  | .sqlite => "INSERT OR IGNORE INTO"
  | _ => "INSERT IGNORE INTO"

def upsertKeyword : Dialect → String
  | .sqlite => "ON CONFLICT DO UPDATE SET"
  | _ => "ON DUPLICATE KEY UPDATE"

def supportsLocks : Dialect → Bool
  | .sqlite => false
  | _ => true

/-- The limit that stands before an offset given alone, for a dialect that demands one:
MySQL takes the greatest number of rows, SQLite takes any negative number for none. -/
def limitForOffset : Dialect → Option String
  | .generic => none
  | .mysql => some "18446744073709551615"
  | .mysqlAnsi => some "18446744073709551615"
  | .sqlite => some "-1"

def limitClause (dialect : Dialect) (limit offset : Option Nat) : Option String :=
  match limit.map Text.ofNat, offset with
  | none, none => none
  | some limit, none => some ("LIMIT " ++ limit)
  | none, some offset =>
    match dialect.limitForOffset with
    | none => some ("OFFSET " ++ Text.ofNat offset)
    | some limit => some ("LIMIT " ++ limit ++ "\nOFFSET " ++ Text.ofNat offset)
  | some limit, some offset => some ("LIMIT " ++ limit ++ "\nOFFSET " ++ Text.ofNat offset)

/-- One segment of a name between identifier quotes, with each quote inside it written
twice.  The segment `*` stands for all columns and stays bare. -/
def quoteSegment (dialect : Dialect) (segment : String) : String :=
  if segment = "*" then segment
  else
    let quote := String.singleton dialect.identifierQuote
    quote ++ Text.doubleChar dialect.identifierQuote segment ++ quote

/-- A name as an identifier: each segment between dots is quoted.  A dialect that does
not quote dotted names leaves them as they are. -/
def quoteIdentifier (dialect : Dialect) (name : String) : String :=
  if name.toList.contains '.' && !dialect.quotesDotted then name
  else ".".intercalate ((Text.splitAtChar '.' name).map dialect.quoteSegment)

end Dialect

end SqlAssembly
