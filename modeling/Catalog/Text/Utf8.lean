/-! Decoding of bytes as UTF-8, with U+FFFD for what is not well formed. -/
namespace Catalog.Text

/-- The character that stands for bytes that cannot be decoded. -/
def replacement : Char := Char.ofNat 0xFFFD

def isContinuation (b : UInt8) : Bool :=
  0x80 ≤ b && b ≤ 0xBF

/-- Whether the byte may follow the lead byte: no overlong form, no surrogate, nothing past U+10FFFF. -/
def mayFollow (lead second : UInt8) : Bool :=
  isContinuation second &&
    match lead.toNat with
    | 0xE0 => 0xA0 ≤ second
    | 0xED => second ≤ 0x9F
    | 0xF0 => 0x90 ≤ second
    | 0xF4 => second ≤ 0x8F
    | _ => true

/-- How many continuation bytes the lead byte of a sequence asks for; none if it leads no sequence. -/
def followers (lead : UInt8) : Nat :=
  if 0xC2 ≤ lead && lead ≤ 0xDF then 1
  else if 0xE0 ≤ lead && lead ≤ 0xEF then 2
  else if 0xF0 ≤ lead && lead ≤ 0xF4 then 3
  else 0

/-- The continuation bytes of a sequence that are there. -/
def continuation (lead : UInt8) (rest : List UInt8) : List UInt8 :=
  match rest.take (followers lead) with
  | [] => []
  | b :: more => if mayFollow lead b then b :: more.takeWhile isContinuation else []

/-- The character of a sequence and how many bytes it takes after its lead byte. A sequence that breaks off
gives one replacement character for all its bytes. -/
def decodeSequence (lead : UInt8) (rest : List UInt8) : Char × Nat :=
  if lead < 0x80 then (Char.ofNat lead.toNat, 0)
  else
    let wanted := followers lead
    let more := continuation lead rest
    if wanted = 0 || more.length < wanted then (replacement, more.length)
    else (Char.ofNat (more.foldl (fun n b => n * 64 + b.toNat % 64) (lead.toNat % Nat.pow 2 (6 - wanted))), wanted)

/-- Decodes the bytes after the first `skip` ones. -/
def decodeAfter : Nat → List UInt8 → List Char
  | _, [] => []
  | skip + 1, _ :: bytes => decodeAfter skip bytes
  | 0, lead :: bytes =>
    let (c, taken) := decodeSequence lead bytes
    c :: decodeAfter taken bytes

def decodeUtf8 (bytes : List UInt8) : List Char :=
  decodeAfter 0 bytes

end Catalog.Text
