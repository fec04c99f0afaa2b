import SqlAssembly.Fragment.Basic

/-! # Statements

A statement is a finished fragment together with what it does.
-/

namespace SqlAssembly

inductive StatementKind where
  | select
  | insert
  | update
  | delete
  -- SQL text of the caller, passed on as it is.
  | raw
  deriving DecidableEq, Repr

structure Statement where
  kind : StatementKind
  fragment : Fragment
  deriving DecidableEq, Repr

namespace Statement

def raw (f : Fragment) : Statement := ⟨.raw, f⟩

def sql (s : Statement) : String := s.fragment.sql

def params (s : Statement) : List Scalar := s.fragment.params

/-- The SQL text with the parameters written in place of their placeholders.  It is meant
for logs: a statement is always run with bound parameters. -/
def inline (s : Statement) : String := s.fragment.inline

/-- The statement inside another one.  SQL text of the caller is put in parentheses, so
that it stays one condition there. -/
def nested (s : Statement) : Fragment :=
  match s.kind with
  | .raw => s.fragment.parenthesize
  | _ => s.fragment

end Statement

end SqlAssembly
