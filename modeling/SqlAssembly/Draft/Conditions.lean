import SqlAssembly.Draft.Basic

/-! # Groups of conditions

Conditions are collected in an open group, all of whose members have to hold.  Closing
the group joins it to the groups closed before, by the connective that was given when
the last of those was closed.  Groups are read from left to right: where the connective
changes, the groups so far are put in parentheses.

* `Draft.regroup` — closes the open group.
* `Draft.consolidated` — all conditions of a draft as one fragment.
-/

namespace SqlAssembly.Draft

def groupedConditions (d : Draft) : Fragment :=
  let current := (Fragment.join .and d.conditions).parenthesize
  match d.grouping with
  | some g => Fragment.join g.connective.combinator [g.fragment, current]
  | none => current

/-- The groups after the open one is closed; an open group without conditions closes
nothing. -/
def closedGroups (d : Draft) (connective : Connective) : Option Grouping :=
  if d.conditions.isEmpty then d.grouping
  else
    match d.grouping with
    | some g => some ⟨d.groupedConditions, g.connective, g.groups + 1⟩
    | none => some ⟨d.groupedConditions, connective, 1⟩

/-- The closed groups with the connective for the next one.  Several groups joined by one
connective stay together in parentheses before another. -/
def reconnect (connective : Connective) (g : Grouping) : Grouping :=
  if 1 < g.groups ∧ g.connective ≠ connective then ⟨g.fragment.parenthesize, connective, 1⟩
  else { g with connective := connective }

/-- Closes the open group; the next one will be joined by `connective`. -/
def regroup (d : Draft) (connective : Connective) : Draft :=
  d.accept (.ok ()) fun () =>
    { d with
      conditions := []
      grouping := (d.closedGroups connective).map (reconnect connective) }

def consolidated (d : Draft) : Fragment :=
  match d.grouping with
  | none => Fragment.join .and d.conditions
  | some g => if d.conditions.isEmpty then g.fragment else d.groupedConditions

end SqlAssembly.Draft
