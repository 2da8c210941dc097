/-
  Golden.Text.Direction
  ────────────────────────────────
  **DIRECTIONS OF WRITING.**

  A character belongs to a text that runs to the right or to the left, or it
  goes along with its neighbours.  The table holds the characters that host names
  admit; marks go along and all others run to the right unless it says otherwise.
  Directions are those of the character standard (version 14), where characters
  that it does not yet assign have none.
-/
import Golden.Text.Mark

namespace Golden.Text

/-- The direction of a character: where its text runs, or how it goes along. -/
inductive Direction
  | toRight
  | toLeft
  | toLeftArabic
  | european
  | arabicNumber
  | separator
  | neutral
  | boundary
  | mark
  | unassigned
  deriving DecidableEq, Repr, Inhabited

/-- The ranges of code points in names with a direction that their kind does not tell. -/
def directionRanges : List (Nat × Nat × Direction) :=
 [(0x2d, 0x2d, .separator), (0x30, 0x39, .european), (0xb7, 0xb7, .neutral),
   (0x2b9, 0x2ba, .neutral), (0x2c6, 0x2cf, .neutral), (0x2ec, 0x2ec, .neutral),
   (0x375, 0x375, .neutral), (0x5d0, 0x5f4, .toLeft), (0x620, 0x64a, .toLeftArabic),
   (0x660, 0x669, .arabicNumber), (0x66e, 0x66f, .toLeftArabic), (0x671, 0x6d5, .toLeftArabic),
   (0x6e5, 0x6e6, .toLeftArabic), (0x6ee, 0x6ef, .toLeftArabic), (0x6f0, 0x6f9, .european),
   (0x6fa, 0x710, .toLeftArabic), (0x712, 0x72f, .toLeftArabic), (0x74d, 0x7a5, .toLeftArabic),
   (0x7b1, 0x7b1, .toLeftArabic), (0x7c0, 0x7ea, .toLeft), (0x7f4, 0x7f5, .toLeft),
   (0x800, 0x815, .toLeft), (0x81a, 0x81a, .toLeft), (0x824, 0x824, .toLeft),
   (0x828, 0x828, .toLeft), (0x840, 0x858, .toLeft), (0x860, 0x88e, .toLeftArabic),
   (0x88f, 0x897, .unassigned), (0x8a0, 0x8c9, .toLeftArabic), (0xc5c, 0xc5c, .unassigned),
   (0xcbf, 0xcbf, .toRight), (0xcc6, 0xcc6, .toRight), (0xcdc, 0xcdc, .unassigned),
   (0xcf3, 0xcf3, .unassigned), (0xece, 0xece, .unassigned), (0x1acf, 0x1aeb, .unassigned),
   (0x1c8a, 0x1c8a, .unassigned), (0x200c, 0x200d, .boundary), (0x2e2f, 0x2e2f, .neutral),
   (0x30fb, 0x30fb, .neutral), (0xa67f, 0xa67f, .neutral), (0xa717, 0xa71f, .neutral),
   (0xa788, 0xa788, .neutral), (0xa7cd, 0xa7cf, .unassigned), (0xa7db, 0xa7db, .unassigned),
   (0xfe73, 0xfe73, .toLeftArabic), (0x105c0, 0x105f3, .unassigned), (0x10800, 0x10939, .toLeft),
   (0x10940, 0x10959, .unassigned), (0x10980, 0x10a00, .toLeft), (0x10a10, 0x10a35, .toLeft),
   (0x10a60, 0x10ae4, .toLeft), (0x10b00, 0x10cf2, .toLeft), (0x10d00, 0x10d23, .toLeftArabic),
   (0x10d30, 0x10d39, .arabicNumber), (0x10d40, 0x10d85, .unassigned), (0x10e80, 0x10ea9, .toLeft),
   (0x10eb0, 0x10eb1, .toLeft), (0x10ec2, 0x10eff, .unassigned), (0x10f00, 0x10f27, .toLeft),
   (0x10f30, 0x10f45, .toLeftArabic), (0x10f70, 0x10f81, .toLeft), (0x10fb0, 0x10ff6, .toLeft),
   (0x1123f, 0x11241, .unassigned), (0x11380, 0x113e2, .unassigned),
   (0x116d0, 0x116e3, .unassigned), (0x11a07, 0x11a08, .toRight), (0x11b60, 0x11bf9, .unassigned),
   (0x11c3f, 0x11c3f, .toRight), (0x11db0, 0x11de9, .unassigned), (0x11f00, 0x11f5a, .unassigned),
   (0x1342f, 0x143fa, .unassigned), (0x16100, 0x16139, .unassigned),
   (0x16d40, 0x16d79, .unassigned), (0x16ebb, 0x16ed3, .unassigned),
   (0x16ff2, 0x16ff3, .unassigned), (0x187f8, 0x187ff, .unassigned),
   (0x18cff, 0x18cff, .unassigned), (0x18d09, 0x18df2, .unassigned),
   (0x1b132, 0x1b132, .unassigned), (0x1b155, 0x1b155, .unassigned),
   (0x1df25, 0x1df2a, .unassigned), (0x1e08f, 0x1e08f, .unassigned),
   (0x1e4d0, 0x1e6ff, .unassigned), (0x1e800, 0x1e8c4, .toLeft), (0x1e922, 0x1e943, .toLeft),
   (0x1e94b, 0x1e959, .toLeft), (0x2b739, 0x2b73f, .unassigned), (0x2cea2, 0x2cead, .unassigned),
   (0x2ebf0, 0x2ee5d, .unassigned), (0x31350, 0x33479, .unassigned)]

/-- The direction of a code point that host names admit. -/
def directionOf (code : Nat) : Direction :=
  match rangeValue? code directionRanges with
  | some d => d
  | none => if isNonspacingMark code then .mark else .toRight

/-- Whether a code point has a name: neither an unassigned one nor an ideograph of Tangut. -/
def isNamed (code : Nat) : Bool :=
  directionOf code != .unassigned && !(0x17000 ≤ code && code ≤ 0x187f7) &&
    !(0x18d00 ≤ code && code ≤ 0x18d08)

end Golden.Text
