import ErrorPages.Pattern.Reader

/-! Patterns that can be used. There are no tables of characters at hand, so the letters of all
scripts in either case, named sets and edges of words can be used only where the pattern turns
`unicode` off; there, in turn, only whole characters can be matched. -/

namespace ErrorPages

namespace Pattern

/-- The flags that decide what can be used. -/
structure Mode where
  caseless : Bool := false
  unicode : Bool := true

namespace Mode

def change (mode : Mode) (flags : Flags) : Mode where
  caseless := flags.get .caseless mode.caseless
  unicode := flags.get .unicode mode.unicode

/-- Whether the cases of a character need no table. -/
def knowsCases (mode : Mode) : Bool := !(mode.caseless && mode.unicode)

end Mode

end Pattern

open Pattern (Mode)

namespace CharSet

mutual

def isUsable (mode : Mode) : CharSet → Bool
  | .empty => true
  | .char c => mode.knowsCases && (mode.unicode || c.toNat < 0x80)
  | .range _ high => mode.knowsCases && (mode.unicode || high.toNat < 0x80)
  | .named negated => !mode.unicode && !negated
  | .ascii negated => mode.knowsCases && (mode.unicode || !negated)
  | .bracketed negated inner => (mode.unicode || !negated) && isUsable mode inner
  | .union members => areUsable mode members
  | .operation left right => isUsable mode left && isUsable mode right

def areUsable (mode : Mode) : List CharSet → Bool
  | [] => true
  | member :: rest => isUsable mode member && areUsable mode rest

end

end CharSet

namespace Pattern

mutual

/-- The mode after a pattern that can be used. The flags of a group end with it. -/
def modeAfter? (mode : Mode) : Pattern → Option Mode
  | .empty | .textEdge => some mode
  | .switch flags => some (mode.change flags)
  | .literal _ => if mode.knowsCases then some mode else none
  | .octet c => if mode.knowsCases && (mode.unicode || c.toNat < 0x80) then some mode else none
  | .dot => if mode.unicode then some mode else none
  | .wordEdge => if mode.unicode then none else some mode
  | .set members => if members.isUsable mode then some mode else none
  | .repeated piece => modeAfter? mode piece
  | .group flags inner => (modeAfter? (mode.change flags) inner).map fun _ => mode
  | .sequence pieces | .choice pieces => modeAfterAll? mode pieces

def modeAfterAll? (mode : Mode) : List Pattern → Option Mode
  | [] => some mode
  | piece :: rest => (modeAfter? mode piece).bind (modeAfterAll? · rest)

end

/-- Whether a text is a pattern that can be used. -/
def isUsable (cs : List Char) : Bool :=
  (ofText? cs).any fun pattern =>
    pattern.depth ≤ maxDepth && (pattern.modeAfter? {}).isSome

end Pattern

end ErrorPages
