/-
Bytes as text. A byte sequence falls apart into pieces: the characters it encodes, and the bytes that belong to none.
It is a text when every piece is a character.
-/
namespace AccountStats.Text

/-- a character, or (`none`) a byte that belongs to no character -/
abbrev Piece := Option Char

/-- the pieces from position `i` on -/
def piecesFrom (bytes : ByteArray) (i : Nat) : List Piece :=
  if i < bytes.size then
    match bytes.utf8DecodeChar? i with
    | some c => some c :: piecesFrom bytes (i + c.utf8Size)
    | none => none :: piecesFrom bytes (i + 1)
  else []
termination_by bytes.size - i
decreasing_by
  · have := c.utf8Size_pos; omega
  · omega

def pieces (bytes : ByteArray) : List Piece := piecesFrom bytes 0

/-- the pieces of a text are its characters -/
def ofText (s : String) : List Piece := s.toList.map some

/-- the text that pieces spell, if each of them is a character -/
def spelled : List Piece → Option (List Char)
  | [] => some []
  | none :: _ => none
  | some c :: ps => (spelled ps).map (c :: ·)

/-- the text that a byte sequence encodes, if it encodes one -/
def decodeUtf8 (bytes : ByteArray) : Option String := (spelled (pieces bytes)).map String.ofList

/-! ## Where bytes fail to be a text -/

/-- the bytes that may stand behind the first byte of a character, from first to last, and how many follow in all -/
def behindLead (lead : UInt8) : Option (UInt8 × UInt8 × Nat) :=
  if lead < 0xC2 then none
  else if lead < 0xE0 then some (0x80, 0xBF, 1)
  else if lead = 0xE0 then some (0xA0, 0xBF, 2)
  else if lead = 0xED then some (0x80, 0x9F, 2)
  else if lead < 0xF0 then some (0x80, 0xBF, 2)
  else if lead = 0xF0 then some (0x90, 0xBF, 3)
  else if lead < 0xF4 then some (0x80, 0xBF, 3)
  else if lead = 0xF4 then some (0x80, 0x8F, 3)
  else none

/-- how many of the bytes from position `i` on carry a character further, `n` at most; `none` if the bytes end there -/
def countFollowing (bytes : ByteArray) (i : Nat) : Nat → Option Nat
  | 0 => some 0
  | n + 1 => match bytes[i]? with
    | none => none
    | some b => if 0x80 ≤ b ∧ b ≤ 0xBF then (countFollowing bytes (i + 1) n).map (· + 1) else some 0

/-- the length of the broken character at a position where there is no whole one; `none` if the bytes end within it -/
def brokenLength (bytes : ByteArray) (i : Nat) : Option Nat :=
  match (bytes[i]?).bind behindLead with
  | none => some 1
  | some (first, last, more) => match bytes[i + 1]? with
    | none => none
    | some b => if b < first || last < b then some 1 else (countFollowing bytes (i + 2) (more - 1)).map (· + 2)

/-- the first place where bytes are no text -/
structure Utf8Fault where
  position : Nat
  /-- the number of bytes that belong to no character; unknown where more bytes could complete one -/
  length : Option Nat
deriving DecidableEq, Repr

def Utf8Fault.text (f : Utf8Fault) : String :=
  match f.length with
  | some n => "invalid utf-8 sequence of " ++ toString n ++ " bytes from index " ++ toString f.position
  | none => "incomplete utf-8 byte sequence from index " ++ toString f.position

/-- the first fault from position `i` on -/
def utf8FaultFrom? (bytes : ByteArray) (i : Nat) : Option Utf8Fault :=
  if i < bytes.size then
    match bytes.utf8DecodeChar? i with
    | some c => utf8FaultFrom? bytes (i + c.utf8Size)
    | none => some ⟨i, brokenLength bytes i⟩
  else none
termination_by bytes.size - i
decreasing_by have := c.utf8Size_pos; omega

/-- the characters from position `i` on, with one replacement character for each broken one -/
def mendedFrom (bytes : ByteArray) (i : Nat) : List Char :=
  if i < bytes.size then
    match bytes.utf8DecodeChar? i with
    | some c => c :: mendedFrom bytes (i + c.utf8Size)
    | none => '\ufffd' :: mendedFrom bytes (i + max 1 ((brokenLength bytes i).getD bytes.size))
  else []
termination_by bytes.size - i
decreasing_by
  · have := c.utf8Size_pos; omega
  · omega

/-- the text of bytes, mended where they are none -/
def mended (bytes : ByteArray) : String := String.ofList (mendedFrom bytes 0)

/-- the text that bytes encode, or where they fail to -/
def readUtf8 (bytes : ByteArray) : Except Utf8Fault String :=
  match utf8FaultFrom? bytes 0 with
  | some f => .error f
  | none => .ok (mended bytes)

theorem spelled_ofText (s : String) : spelled (ofText s) = some s.toList := by
  unfold ofText
  induction s.toList with
  | nil => rfl
  | cons c cs ih => simp [spelled, ih]

end AccountStats.Text
