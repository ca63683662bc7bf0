import Outliner.Property

/-!
# Outliner — setting a property

* `IdSupply` — names for headings that have none yet;
* `Property.setEdits` — the edits that give a heading a property. An entry for the key is replaced
  where it stands; otherwise the entry goes to the end of the drawer; and without a drawer one is
  made below the heading, with an `ID` first.
-/

namespace Outliner

/-- A supply of fresh names: the `n`-th one, and how many have been issued. -/
structure IdSupply where
  name : Nat → Text
  issued : Nat := 0

namespace IdSupply

/-- The name that is issued next. -/
def fresh (ids : IdSupply) : Text :=
  ids.name ids.issued

/-- The supply after one more name has been issued. -/
def advance (ids : IdSupply) : IdSupply :=
  { ids with issued := ids.issued + 1 }

end IdSupply

namespace Property

/-- The key of the property that names a heading. -/
def idKey : Text :=
  "ID".toList

/-- The line tells when its heading is planned. -/
def isPlanning (line : Text) : Bool :=
  ["SCHEDULED:".toList, "DEADLINE:".toList, "CLOSED:".toList].any
    (·.isPrefixOf line.trimStart)

/-- The line below a heading where a new drawer goes: after the planning line, if there is one. -/
def newDrawerLine (lines : Lines) (n : Nat) : Nat :=
  if n + 1 < lines.length ∧ isPlanning (lines.lineAt (n + 1)) then n + 2 else n + 1

/-- The indentation of a new entry: that of the first entry, or that of the opening marker. -/
def entryIndent (lines : Lines) (d : Drawer) : Nat :=
  match (d.interior lines).findSome? fun (line, _) => parse? line with
  | some p => p.indent
  | none => (lines.lineAt d.start).indent

/-- The lines of a new drawer with one property. Unless that property is the `ID` itself, an `ID`
stands before it. -/
def newDrawer (key value id : Text) : List Text :=
  [":PROPERTIES:".toList]
    ++ (if key = idKey then [] else [render ⟨0, idKey, id⟩])
    ++ [render ⟨0, key, value⟩, ":END:".toList]

/-- The edits that give the heading on line `n` a property, and the supply of names after them, once
its drawer has been found or found missing. -/
def editsAt (lines : Lines) (n : Nat) (found : Option Drawer) (key value : Text)
    (ids : IdSupply) : List Edit × IdSupply :=
  let key := key.upper
  let value := value.trim
  match found with
  | some drawer =>
    match drawer.find? lines key with
    | some (line, old) => ([⟨lines.spanOf line, render ⟨old.indent, key, value⟩⟩], ids)
    | none =>
      let entry := render ⟨entryIndent lines drawer, key, value⟩
      ([lines.insertion drawer.stop [entry]], ids)
  | none =>
    ([lines.insertion (newDrawerLine lines n) (newDrawer key value ids.fresh)],
      if key = idKey then ids else ids.advance)

/-- The edits that give the heading on line `n` a property, and the supply of names after them. -/
def setEdits (config : Config) (lines : Lines) (n : Nat) (key value : Text) (ids : IdSupply) :
    Except Fault (List Edit × IdSupply) := do
  return editsAt lines n (← Drawer.below? config lines n) key value ids

end Property

end Outliner
