import Mathlib.Data.List.Basic

/-! Reading text out of bytes that may not be text. -/

namespace Base

/-- Whether a byte continues a character. -/
def isContinuation (byte : UInt8) : Bool := 0x80 ≤ byte && byte ≤ 0xBF

/-- How many bytes a character takes that starts with a byte, or none if no character does. -/
def utf8Width (byte : UInt8) : Option Nat :=
  if byte < 0x80 then some 1
  else if 0xC2 ≤ byte && byte ≤ 0xDF then some 2
  else if 0xE0 ≤ byte && byte ≤ 0xEF then some 3
  else if 0xF0 ≤ byte && byte ≤ 0xF4 then some 4
  else none

/-- Whether a byte can be the second of a character of three or four bytes. -/
def isSecond (first second : UInt8) : Bool :=
  if first = 0xE0 then 0xA0 ≤ second && second ≤ 0xBF
  else if first = 0xED then 0x80 ≤ second && second ≤ 0x9F
  else if first = 0xF0 then 0x90 ≤ second && second ≤ 0xBF
  else if first = 0xF4 then 0x80 ≤ second && second ≤ 0x8F
  else isContinuation second

/-- The character whose bytes carry some bits after its first byte's. -/
def joinBits (start : Nat) (rest : List UInt8) : Char :=
  Char.ofNat (rest.foldl (fun value byte => value * 64 + byte.toNat % 64) start)

/-- The characters of bytes, with a replacement for each longest start of a character that breaks
off, and for each byte that starts none. -/
def lossyChars : List UInt8 → List Char
  | [] => []
  | first :: rest =>
    match utf8Width first with
    | none => '\uFFFD' :: lossyChars rest
    | some 1 => Char.ofNat first.toNat :: lossyChars rest
    | some 2 =>
      match rest with
      | second :: rest =>
        if isContinuation second then joinBits (first.toNat % 32) [second] :: lossyChars rest
        else '\uFFFD' :: lossyChars (second :: rest)
      | [] => ['\uFFFD']
    | some 3 =>
      match rest with
      | second :: third :: rest =>
        if !isSecond first second then '\uFFFD' :: lossyChars (second :: third :: rest)
        else if !isContinuation third then '\uFFFD' :: lossyChars (third :: rest)
        else joinBits (first.toNat % 16) [second, third] :: lossyChars rest
      | [second] =>
        if isSecond first second then ['\uFFFD'] else '\uFFFD' :: lossyChars [second]
      | [] => ['\uFFFD']
    | some _ =>
      match rest with
      | second :: third :: fourth :: rest =>
        if !isSecond first second then '\uFFFD' :: lossyChars (second :: third :: fourth :: rest)
        else if !isContinuation third then '\uFFFD' :: lossyChars (third :: fourth :: rest)
        else if !isContinuation fourth then '\uFFFD' :: lossyChars (fourth :: rest)
        else joinBits (first.toNat % 8) [second, third, fourth] :: lossyChars rest
      | [second, third] =>
        if !isSecond first second then '\uFFFD' :: lossyChars [second, third]
        else if isContinuation third then ['\uFFFD'] else '\uFFFD' :: lossyChars [third]
      | [second] =>
        if isSecond first second then ['\uFFFD'] else '\uFFFD' :: lossyChars [second]
      | [] => ['\uFFFD']

/-- The text of bytes, with replacements where they are no text. -/
def fromUtf8Lossy (bytes : List UInt8) : String := String.ofList (lossyChars bytes)

/-- The text of bytes, if they are text. -/
def fromUtf8 (bytes : List UInt8) : Option String := String.fromUTF8? ⟨bytes.toArray⟩

example : fromUtf8Lossy [0x61, 0xE2, 0x82, 0xAC, 0xE2, 0x82, 0x62, 0xFF] = "a€�b�" := by
  decide +kernel

end Base
