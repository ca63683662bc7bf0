import Outliner.Keyword

/-!
# Outliner — settings

What a user can set. The four numbers are machine words of 64 bits.
-/

namespace Outliner

/-- The settings in force. -/
structure Config where
  /-- The heading states. -/
  keywords : Keywords := .standard
  /-- The columns by which a list item moves when it is indented or outdented. -/
  indentWidth : UInt64 := 2
  /-- The number of blank lines in a row that detach text from a list item above it. -/
  blankRunLimit : UInt64 := 2
  /-- The number of lines below a heading among which its drawer has to start. -/
  drawerScanLimit : UInt64 := 32
  /-- The lowest level that a heading can be raised to. -/
  minLevel : UInt64 := 1
deriving DecidableEq, Repr

end Outliner
