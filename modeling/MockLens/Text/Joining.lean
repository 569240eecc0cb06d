/-
**Joining: letters that are written together.**

In some scripts a letter takes another shape when it is joined to the letter before or behind it.

Main definitions:

* `Text.Joining`, `Text.joining` — the sides on which a character is joined;
* `Text.joinsAcross` — two letters are joined but for a character between them.
-/
import MockLens.Text.Category

set_option autoImplicit false

namespace MockLens

namespace Text

/-- The sides on which a character is joined to its neighbours. -/
inductive Joining where
  | neither
  /-- To the letter before it. -/
  | before
  /-- To the letter behind it. -/
  | after
  | both
  /-- A mark: the letters on its two sides are joined as if it were not there. -/
  | transparent
  deriving DecidableEq, Repr

/-- The sides on which letters are joined, in runs that do not count marks and controls. -/
def joiningRuns : List (Nat × Joining) :=
  [(0x620, .both), (0x621, .neither), (0x622, .before), (0x626, .both), (0x627, .before),
   (0x628, .both), (0x629, .before), (0x62A, .both), (0x62F, .before), (0x633, .both),
   (0x640, .neither), (0x641, .both), (0x648, .before), (0x649, .both), (0x660, .neither),
   (0x66E, .both), (0x671, .before), (0x674, .neither), (0x679, .both), (0x688, .before),
   (0x69A, .both), (0x6C0, .before), (0x6C1, .both), (0x6C3, .before), (0x6CC, .both),
   (0x6CD, .before), (0x6CE, .both), (0x6CF, .before), (0x6D0, .both), (0x6D2, .before),
   (0x6D4, .neither), (0x6D5, .before), (0x6DE, .neither), (0x6EE, .before), (0x6F0, .neither),
   (0x6FA, .both), (0x6FD, .neither), (0x6FF, .both), (0x700, .neither), (0x710, .before),
   (0x712, .both), (0x715, .before), (0x71A, .both), (0x71E, .before), (0x71F, .both),
   (0x728, .before), (0x729, .both), (0x72A, .before), (0x72B, .both), (0x72C, .before),
   (0x72D, .both), (0x72F, .before), (0x74E, .both), (0x759, .before), (0x75C, .both),
   (0x76B, .before), (0x76D, .both), (0x771, .before), (0x772, .both), (0x773, .before),
   (0x775, .both), (0x778, .before), (0x77A, .both), (0x780, .neither), (0x7CA, .both),
   (0x7F4, .neither), (0x840, .before), (0x841, .both), (0x846, .before), (0x848, .both),
   (0x849, .before), (0x84A, .both), (0x854, .before), (0x855, .both), (0x856, .before),
   (0x85E, .neither), (0x860, .both), (0x861, .neither), (0x862, .both), (0x866, .neither),
   (0x867, .before), (0x868, .both), (0x869, .before), (0x883, .neither), (0x886, .both),
   (0x887, .neither), (0x889, .both), (0x88E, .before), (0x88F, .both), (0x8AA, .before),
   (0x8AD, .neither), (0x8AE, .before), (0x8AF, .both), (0x8B1, .before), (0x8B3, .both),
   (0x8B9, .before), (0x8BA, .both), (0x8C9, .neither), (0x1807, .both), (0x1808, .neither),
   (0x1820, .both), (0x1880, .neither), (0x1887, .both), (0x18B0, .neither), (0xA840, .both),
   (0xA872, .after), (0xA873, .neither), (0x10AC0, .both), (0x10AC5, .before), (0x10AC6, .neither),
   (0x10AC7, .before), (0x10AC8, .neither), (0x10AC9, .before), (0x10ACB, .neither),
   (0x10ACD, .after), (0x10ACE, .before), (0x10AD3, .both), (0x10AD7, .after), (0x10AD8, .both),
   (0x10ADD, .before), (0x10ADE, .both), (0x10AE1, .before), (0x10AE2, .neither),
   (0x10AE4, .before), (0x10AEB, .both), (0x10AEF, .before), (0x10AF0, .neither), (0x10B80, .both),
   (0x10B81, .before), (0x10B82, .both), (0x10B83, .before), (0x10B86, .both), (0x10B89, .before),
   (0x10B8A, .both), (0x10B8C, .before), (0x10B8D, .both), (0x10B8E, .before), (0x10B90, .both),
   (0x10B91, .before), (0x10B99, .neither), (0x10BA9, .before), (0x10BAD, .both),
   (0x10BAF, .neither), (0x10D00, .after), (0x10D01, .both), (0x10D22, .before), (0x10D23, .both),
   (0x10D30, .neither), (0x10EC2, .before), (0x10EC3, .both), (0x10EC5, .neither), (0x10EC6, .both),
   (0x10ED0, .neither), (0x10F30, .both), (0x10F33, .before), (0x10F34, .both), (0x10F45, .neither),
   (0x10F51, .both), (0x10F54, .before), (0x10F55, .neither), (0x10F70, .both), (0x10F74, .before),
   (0x10F76, .both), (0x10F86, .neither), (0x10FB0, .both), (0x10FB1, .neither), (0x10FB2, .both),
   (0x10FB4, .before), (0x10FB7, .neither), (0x10FB8, .both), (0x10FB9, .before), (0x10FBB, .both),
   (0x10FBD, .before), (0x10FBE, .both), (0x10FC0, .neither), (0x10FC1, .both), (0x10FC2, .before),
   (0x10FC4, .both), (0x10FC5, .neither), (0x10FC9, .before), (0x10FCA, .both), (0x10FCB, .after),
   (0x10FE0, .neither), (0x1E922, .both), (0x1E950, .neither)]

/-- The sides on which a character is joined. -/
def joining (c : Char) : Joining :=
  if isNonspacing c || c == Char.ofNat 0x1E94B then .transparent else runAt joiningRuns .neither c

/-- Of the characters before and behind a place, both nearest first, those next to it are joined, if
nothing else stood there. -/
def joinsAcross (before after : List Char) : Bool :=
  let next (cs : List Char) : Option Joining := (cs.map joining).find? (· != .transparent)
  let joinsBehind := [some Joining.after, some Joining.both].contains (next before)
  let joinsBefore := [some Joining.before, some Joining.both].contains (next after)
  joinsBehind && joinsBefore

end Text

end MockLens
