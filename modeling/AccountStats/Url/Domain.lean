import AccountStats.Text.Folding
import AccountStats.Text.Mark
import AccountStats.Text.Split
import AccountStats.Text.Unprintable
import AccountStats.Text.Utf8
import AccountStats.Url.Punycode
/-
Names of hosts. A name is put into its plain form first: ASCII letters in lower case, forms of ASCII characters as these,
and without characters that mean nothing. Then every label of it is checked, a label in Punycode as what it stands for.

Letters beyond ASCII stay as they are: their case does not decide whether a name can be one.
-/
namespace AccountStats.Url.Domain

open AccountStats.Text

/-! ## Characters -/

/-- ASCII characters that no name has, besides control characters and the blank -/
def reserved : List Char := ['%', '#', '/', ':', '<', '>', '?', '@', '[', '\\', ']', '^', '|']

/-- printed characters beyond ASCII that no name has; the form of most of them holds a blank or a reserved character -/
def unfitRuns : Array (Nat × Nat) := #[
  (0xa8, 0xa8), (0xaf, 0xaf), (0xb4, 0xb4), (0xb8, 0xb8), (0x2d8, 0x2dd), (0x37a, 0x37a), (0x384, 0x385),
  (0x115f, 0x1160), (0x1806, 0x1806), (0x1fbd, 0x1fbd), (0x1fbf, 0x1fc1), (0x1fcd, 0x1fcf), (0x1fdd, 0x1fdf),
  (0x1fed, 0x1fee), (0x1ffd, 0x1ffe), (0x2017, 0x2017), (0x2024, 0x2026), (0x203e, 0x203e), (0x2047, 0x2049),
  (0x2100, 0x2101), (0x2105, 0x2106), (0x2488, 0x249b), (0x2a74, 0x2a74), (0x2ff0, 0x2fff),
  (0x309b, 0x309c), (0x3164, 0x3164), (0x31ef, 0x31ef), (0x33c2, 0x33c2), (0x33c7, 0x33c7), (0x33d8, 0x33d8),
  (0xfc5e, 0xfc63), (0xfdfa, 0xfdfb), (0xfe12, 0xfe13), (0xfe16, 0xfe16), (0xfe19, 0xfe19), (0xfe30, 0xfe30),
  (0xfe47, 0xfe4c), (0xfe52, 0xfe52), (0xfe55, 0xfe56), (0xfe5f, 0xfe5f), (0xfe64, 0xfe65), (0xfe68, 0xfe68),
  (0xfe6a, 0xfe6b), (0xfe70, 0xfe70), (0xfe72, 0xfe72), (0xfe74, 0xfe74), (0xfe76, 0xfe76), (0xfe78, 0xfe78),
  (0xfe7a, 0xfe7a), (0xfe7c, 0xfe7c), (0xfe7e, 0xfe7e), (0xffa0, 0xffa0), (0xffe3, 0xffe3), (0xfffc, 0xfffd),
  (0x1f100, 0x1f100)]

/-- characters that mean nothing in a name: breaks, and selectors of a glyph -/
def meaninglessRuns : Array (Nat × Nat) := #[
  (0xad, 0xad), (0x34f, 0x34f), (0x180b, 0x180d), (0x180f, 0x180f), (0x200b, 0x200b), (0x2060, 0x2060),
  (0x2064, 0x2064), (0xfe00, 0xfe0f), (0xfeff, 0xfeff), (0x1bca0, 0x1bca3), (0xe0100, 0xe01ef)]

def joiners : List Char := ['\u200c', '\u200d']

/-- the ASCII character that a character is a form of: wide, raised, lowered, ringed or in a mathematical style -/
def asciiForm? (c : Char) : Option Char :=
  let n := c.toNat
  let digit (n : Nat) : Option Char := some (Char.ofNat ('0'.toNat + n))
  if 0xFF01 ≤ n ∧ n ≤ 0xFF5E then some (Char.ofNat (n - 0xFEE0))
  else if n = 0x3002 ∨ n = 0xFF61 then some '.'
  else if 0x1D7CE ≤ n ∧ n ≤ 0x1D7FF then digit ((n - 0x1D7CE) % 10)
  else if 0x1FBF0 ≤ n ∧ n ≤ 0x1FBF9 then digit (n - 0x1FBF0)
  else if n = 0x2070 ∨ (0x2074 ≤ n ∧ n ≤ 0x2079) then digit (n - 0x2070)
  else if 0x2080 ≤ n ∧ n ≤ 0x2089 then digit (n - 0x2080)
  else if 0x2460 ≤ n ∧ n ≤ 0x2468 then digit (n - 0x2460 + 1)
  else if n = 0xB2 ∨ n = 0xB3 then digit (n - 0xB0)
  else if n = 0xB9 then digit 1
  else if n = 0x24EA then digit 0
  else none

/-- an ASCII character in plain form, if a name can have it -/
def plainAscii? (c : Char) : Option (List Char) :=
  if c.toNat ≤ 0x20 ∨ c.toNat = 0x7F ∨ c ∈ reserved then none else some [c.toLower]

/-- a character in plain form, if a name can have it -/
def plain? (c : Char) : Option (List Char) :=
  if c.toNat < 0x80 then plainAscii? c
  else if isIn c meaninglessRuns then some []
  else match asciiForm? c with
    | some a => plainAscii? a
    | none => if joiners.contains c then some [c] else if isUnprintable c || isIn c unfitRuns then none else some [c]

/-! ## Writing direction -/

/-- a character by what it does to the direction of its label -/
inductive Direction where
  | left
  | right
  | number
  | arabicNumber
  | mark
  | neutral
deriving DecidableEq, Repr

def arabicNumberRuns : Array (Nat × Nat) := #[
  (0x600, 0x605), (0x660, 0x669), (0x66b, 0x66c), (0x6dd, 0x6dd), (0x890, 0x891), (0x8e2, 0x8e2),
  (0x10d30, 0x10d39), (0x10d40, 0x10d49), (0x10e60, 0x10e7e)]

/-- the blocks of the scripts that are written from right to left -/
def rightRuns : Array (Nat × Nat) := #[
  (0x590, 0x8ff), (0xfb1d, 0xfdff), (0xfe70, 0xfeff), (0x10800, 0x10fff), (0x1e800, 0x1efff)]

def direction (c : Char) : Direction :=
  if c.isAlpha then .left
  else if c.isDigit || (0x6F0 ≤ c.toNat && c.toNat ≤ 0x6F9) then .number
  else if c.toNat < 0x80 || joiners.contains c then .neutral
  else if isExtending c then .mark
  else if isIn c arabicNumberRuns then .arabicNumber
  else if isIn c rightRuns then .right
  else .left

/-- whether one direction governs a label: it begins and ends with it, and has nothing of the other -/
def isOneWay (label : List Char) : Bool :=
  let ds := label.map direction
  let last? := (ds.reverse.dropWhile (· = .mark)).head?
  match ds.head? with
  | some .left => ds.all (fun d => d != .right && d != .arabicNumber) && (last? = some .left || last? = some .number)
  | some .right =>
    ds.all (· != .left) && last? != some .neutral && !(ds.contains .number && ds.contains .arabicNumber)
  | _ => false

/-- whether a label has something that is written from right to left -/
def hasRight (label : List Char) : Bool := label.any fun c => direction c = .right || direction c = .arabicNumber

/-! ## Labels -/

/-- signs behind which letters may be joined -/
def viramaRuns : Array (Nat × Nat) := #[
  (0x94d, 0x94d), (0x9cd, 0x9cd), (0xa4d, 0xa4d), (0xacd, 0xacd), (0xb4d, 0xb4d), (0xbcd, 0xbcd), (0xc4d, 0xc4d),
  (0xccd, 0xccd), (0xd3b, 0xd3c), (0xd4d, 0xd4d), (0xdca, 0xdca), (0xe3a, 0xe3a), (0xeba, 0xeba), (0xf84, 0xf84),
  (0x1039, 0x103a), (0x1714, 0x1715), (0x1734, 0x1734), (0x17d2, 0x17d2), (0x1a60, 0x1a60), (0x1b44, 0x1b44),
  (0x1baa, 0x1bab), (0x1bf2, 0x1bf3), (0x2d7f, 0x2d7f), (0xa806, 0xa806), (0xa82c, 0xa82c), (0xa8c4, 0xa8c4),
  (0xa953, 0xa953), (0xa9c0, 0xa9c0), (0xaaf6, 0xaaf6), (0xabed, 0xabed), (0x10a3f, 0x10a3f), (0x11046, 0x11046),
  (0x11070, 0x11070), (0x1107f, 0x1107f), (0x110b9, 0x110b9), (0x11133, 0x11134), (0x111c0, 0x111c0),
  (0x11235, 0x11235), (0x112ea, 0x112ea), (0x1134d, 0x1134d), (0x11442, 0x11442), (0x114c2, 0x114c2),
  (0x115bf, 0x115bf), (0x1163f, 0x1163f), (0x116b6, 0x116b6), (0x1172b, 0x1172b), (0x11839, 0x11839),
  (0x1193d, 0x1193e), (0x119e0, 0x119e0), (0x11a34, 0x11a34), (0x11a47, 0x11a47), (0x11a99, 0x11a99),
  (0x11c3f, 0x11c3f), (0x11d44, 0x11d45), (0x11d97, 0x11d97)]

/-- whether every joiner stands where letters can be joined: behind such a sign, or between cursive letters to part them -/
def joins (before : Option Char) : List Char → Bool
  | [] => true
  | c :: cs =>
    let isCursive (c : Option Char) : Bool := (c.map direction) = some .right
    let isAllowed :=
      (before.map fun b => isIn b viramaRuns) = some true || (c = '\u200c' && isCursive before && isCursive cs.head?)
    (!joiners.contains c || isAllowed) && joins (some c) cs

/-- whether a character is in plain form, and a name can have it -/
def isPlain (c : Char) : Bool := plain? c = some [c] && !isUnfolded c

/-- what a label in plain form stands for, if it can be a label: one in Punycode holds more than ASCII -/
def label? (cs : List Char) : Option (List Char) :=
  match "xn--".toList.isPrefixOf? cs with
  | none => some cs
  | some code => (Punycode.decode? code).filter fun text => text.any (128 ≤ ·.toNat) && text.all isPlain

/-- whether a label does not begin with a mark, and joins its letters rightly -/
def isLabel (cs : List Char) : Bool := cs.head?.map isMark != some true && joins none cs

/-- whether labels make a name; if one is written from right to left, each goes one way -/
def areLabels (labels : List (List Char)) : Bool :=
  labels.all isLabel && (!labels.any hasRight || labels.all fun l => l = [] || isOneWay l)

/-- the plain form of the name that bytes encode, if it can be the name of a host -/
def ofBytes? (bytes : ByteArray) : Option (List Char) := do
  let text ← decodeUtf8 bytes
  let plain := (← text.toList.mapM plain?).flatten
  let labels ← (splitOn '.' plain).mapM label?
  if areLabels labels then some plain else none

end AccountStats.Url.Domain
