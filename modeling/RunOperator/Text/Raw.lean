/-!
# Raw text

Text from outside the program, such as a variable of the environment or a file, need not be UTF-8.
`RawText.ofBytes` reads bytes as characters and keeps what is no character as broken pieces. A
broken piece is as long as it can be while it still could have begun a character.
-/

namespace RunOperator

/-- A piece of raw text. -/
inductive Piece where
  | char (c : Char)
  | broken (bytes : List UInt8)
  deriving DecidableEq, Inhabited

/-- Text that need not be UTF-8. -/
structure RawText where
  pieces : List Piece
  deriving DecidableEq, Inhabited

namespace RawText

/-- The beginning of a character: its bytes, the bits of its code so far, the number of bytes owed
and the bounds of the next byte. -/
structure Start where
  bytes : List UInt8
  code : Nat
  owed : Nat
  low : UInt8
  high : UInt8

/-- What a byte begins: a character of one byte, a longer character, or nothing. -/
def beginning (b : UInt8) : Piece ⊕ Start :=
  let n := b.toNat
  if b ≤ 0x7f then .inl (.char (Char.ofNat n))
  else if 0xc2 ≤ b ∧ b ≤ 0xdf then .inr ⟨[b], n - 0xc0, 1, 0x80, 0xbf⟩
  else if b = 0xe0 then .inr ⟨[b], 0, 2, 0xa0, 0xbf⟩
  else if b = 0xed then .inr ⟨[b], 13, 2, 0x80, 0x9f⟩
  else if 0xe1 ≤ b ∧ b ≤ 0xef then .inr ⟨[b], n - 0xe0, 2, 0x80, 0xbf⟩
  else if b = 0xf0 then .inr ⟨[b], 0, 3, 0x90, 0xbf⟩
  else if 0xf1 ≤ b ∧ b ≤ 0xf3 then .inr ⟨[b], n - 0xf0, 3, 0x80, 0xbf⟩
  else if b = 0xf4 then .inr ⟨[b], 4, 3, 0x80, 0x8f⟩
  else .inl (.broken [b])

/-- The beginning of a character with one more byte. -/
def Start.extend (s : Start) (b : UInt8) : Start :=
  ⟨s.bytes ++ [b], s.code * 64 + (b.toNat - 0x80), s.owed - 1, 0x80, 0xbf⟩

/-- The pieces of some bytes, which may come after the beginning of a character. -/
def piecesFrom (start : Option Start) : List UInt8 → List Piece
  | [] => (start.map fun s => Piece.broken s.bytes).toList
  | b :: rest =>
    match start with
    | some s =>
      if s.low ≤ b ∧ b ≤ s.high then
        if s.owed = 1 then .char (Char.ofNat (s.extend b).code) :: piecesFrom none rest
        else piecesFrom (some (s.extend b)) rest
      else
        .broken s.bytes :: match beginning b with
          | .inl p => p :: piecesFrom none rest
          | .inr t => piecesFrom (some t) rest
    | none =>
      match beginning b with
      | .inl p => p :: piecesFrom none rest
      | .inr t => piecesFrom (some t) rest

/-- The text that bytes stand for. -/
def ofBytes (bytes : List UInt8) : RawText := ⟨piecesFrom none bytes⟩

/-- A text without broken pieces. -/
def ofText (s : String) : RawText := ⟨s.toList.map .char⟩

/-- The character of a piece. -/
def char? : Piece → Option Char
  | .char c => some c
  | .broken _ => none

/-- The characters, unless a piece is broken. -/
def text? (t : RawText) : Option String := (t.pieces.mapM char?).map String.ofList

/-- The text with a replacement character for each broken piece. -/
def lossy (t : RawText) : String :=
  String.ofList (t.pieces.map fun p => (char? p).getD '\ufffd')

/-- The text has no pieces. -/
def isEmpty (t : RawText) : Bool := t.pieces.isEmpty

end RawText

end RunOperator
