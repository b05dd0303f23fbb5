import ArenaStandings.Text.CaseTable
import ArenaStandings.Text.Mark

/-!
# Directions

The direction in which a character is written. `Direction.ofChar` knows the characters of Unicode 14
that a label of a host name may hold; of others it may take one that is written to the left, or
towards no side, for one that is written to the right.
-/

namespace ArenaStandings

/-- How a character takes part in the direction of a text. -/
inductive Direction
  | leftToRight
  | rightToLeft
  | arabicLetter
  | arabicNumber
  | europeanNumber
  | separator
  | neutral
  | boundary
  | nonspacing
  deriving DecidableEq, Repr

namespace Direction

/-- Letters from right to left. -/
def rightToLeftRanges : List (Nat × Nat) :=
  [
    (0x5D0, 0x5F4), (0x7C0, 0x7EA), (0x7F4, 0x7F5), (0x800, 0x815), (0x81A, 0x81A), (0x824, 0x824),
    (0x828, 0x828), (0x840, 0x858), (0x10800, 0x10A00), (0x10A10, 0x10A35), (0x10A60, 0x10AE4),
    (0x10B00, 0x10CF2), (0x10E80, 0x10EA9), (0x10EB0, 0x10F27), (0x10F70, 0x10F81),
    (0x10FB0, 0x10FF6), (0x1E800, 0x1E8C4), (0x1E922, 0x1E943), (0x1E94B, 0x1E959)
  ]

/-- Letters from right to left that join as those of Arabic do. -/
def arabicLetterRanges : List (Nat × Nat) :=
  [
    (0x620, 0x64A), (0x66E, 0x66F), (0x671, 0x6D5), (0x6E5, 0x6E6), (0x6EE, 0x6EF), (0x6FA, 0x710),
    (0x712, 0x72F), (0x74D, 0x7A5), (0x7B1, 0x7B1), (0x860, 0x88E), (0x8A0, 0x8C9),
    (0xFE73, 0xFE73), (0x10D00, 0x10D23), (0x10F30, 0x10F45)
  ]

/-- Digits within letters from right to left. -/
def arabicNumberRanges : List (Nat × Nat) := [(0x660, 0x669), (0x10D30, 0x10D39)]

/-- Digits within letters from left to right. -/
def europeanNumberRanges : List (Nat × Nat) := [(0x30, 0x39), (0x6F0, 0x6F9)]

/-- Characters towards no side. -/
def neutralRanges : List (Nat × Nat) :=
  [
    (0xB7, 0xB7), (0x2B9, 0x2BA), (0x2C6, 0x2CF), (0x2EC, 0x2EC), (0x375, 0x375), (0x2E2F, 0x2E2F),
    (0x30FB, 0x30FB), (0xA67F, 0xA67F), (0xA717, 0xA71F), (0xA788, 0xA788)
  ]

/-- Marks that have the direction of letters from left to right. -/
def strongMarks : List Nat := [0xCBF, 0xCC6, 0x11A07, 0x11A08, 0x11C3F]

/-- The direction of a character. -/
def ofChar (character : Char) : Direction :=
  let within (ranges : List (Nat × Nat)) : Bool := CaseTable.inRanges ranges character.toNat
  if character = '-' then separator
  else if character = '\u200c' ∨ character = '\u200d' then boundary
  else if within europeanNumberRanges then europeanNumber
  else if within arabicNumberRanges then arabicNumber
  else if within neutralRanges then neutral
  else if Mark.isNonspacing character then
    if strongMarks.contains character.toNat then leftToRight else nonspacing
  else if within arabicLetterRanges then arabicLetter
  else if within rightToLeftRanges then rightToLeft
  else leftToRight

end Direction

end ArenaStandings
