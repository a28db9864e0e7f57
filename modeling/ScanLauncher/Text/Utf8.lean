/-!
UTF-8: the bytes of a character, and the character at the start of some bytes.
-/
namespace ScanLauncher.Utf8

/-- A continuation byte carries six payload bits. -/
def isTail (b : UInt8) : Bool := 0x80 ≤ b && b ≤ 0xBF

/-- The payload of a continuation byte. -/
def tailBits (b : UInt8) : Nat := b.toNat - 0x80

/-- The character that starts at `lead`, and how many bytes of `rest` belong to it. Over-long
forms, surrogates and values above `U+10FFFF` start no character. -/
def head? (lead : UInt8) (rest : List UInt8) : Option (Char × Nat) :=
  if lead < 0x80 then some (Char.ofNat lead.toNat, 0)
  else if 0xC2 ≤ lead && lead ≤ 0xDF then
    match rest with
    | b :: _ =>
      if isTail b then some (Char.ofNat ((lead.toNat - 0xC0) * 64 + tailBits b), 1) else none
    | [] => none
  else if 0xE0 ≤ lead && lead ≤ 0xEF then
    match rest with
    | b :: c :: _ =>
      let low := if lead == 0xE0 then 0xA0 else 0x80
      let high := if lead == 0xED then 0x9F else 0xBF
      if low ≤ b && b ≤ high && isTail c then
        some (Char.ofNat (((lead.toNat - 0xE0) * 64 + tailBits b) * 64 + tailBits c), 2)
      else none
    | _ => none
  else if 0xF0 ≤ lead && lead ≤ 0xF4 then
    match rest with
    | b :: c :: d :: _ =>
      let low := if lead == 0xF0 then 0x90 else 0x80
      let high := if lead == 0xF4 then 0x8F else 0xBF
      if low ≤ b && b ≤ high && isTail c && isTail d then
        some (Char.ofNat
          ((((lead.toNat - 0xF0) * 64 + tailBits b) * 64 + tailBits c) * 64 + tailBits d), 3)
      else none
    | _ => none
  else none

/-- How many bytes of `rest` belong to a broken character that starts at `lead`: as many as could
still become one. -/
def brokenTail (lead : UInt8) (rest : List UInt8) : Nat :=
  let second (low high : UInt8) (more : List UInt8 → Nat) : Nat :=
    match rest with
    | b :: rest => if low ≤ b && b ≤ high then 1 + more rest else 0
    | [] => 0
  let third (rest : List UInt8) : Nat :=
    match rest with
    | c :: _ => if isTail c then 1 else 0
    | [] => 0
  if 0xE0 ≤ lead && lead ≤ 0xEF then
    second (if lead == 0xE0 then 0xA0 else 0x80) (if lead == 0xED then 0x9F else 0xBF) fun _ => 0
  else if 0xF0 ≤ lead && lead ≤ 0xF4 then
    second (if lead == 0xF0 then 0x90 else 0x80) (if lead == 0xF4 then 0x8F else 0xBF) third
  else 0

/-- Reads bytes from left to right: `ok` takes a character, and `stray` a byte that starts none. -/
def fold {α : Type} (ok : Char → α) (stray : UInt8 → α) : List UInt8 → List α
  | [] => []
  | lead :: rest =>
    match head? lead rest with
    | some (c, n) => ok c :: fold ok stray (rest.drop n)
    | none => stray lead :: fold ok stray rest
termination_by bytes => bytes.length
decreasing_by all_goals simp only [List.length_drop, List.length_cons]; omega

/-- The characters of a byte sequence, if all of it is UTF-8. -/
def decode? (bytes : List UInt8) : Option (List Char) :=
  (fold some (fun _ => none) bytes).mapM id

/-- The characters of a byte sequence, with one replacement character for each broken one. -/
def decodeLossy : List UInt8 → List Char
  | [] => []
  | lead :: rest =>
    match head? lead rest with
    | some (c, n) => c :: decodeLossy (rest.drop n)
    | none => '\uFFFD' :: decodeLossy (rest.drop (brokenTail lead rest))
termination_by bytes => bytes.length
decreasing_by all_goals simp only [List.length_drop, List.length_cons]; omega

/-- The bytes of one character. -/
def encodeChar (c : Char) : List UInt8 :=
  let n := c.toNat
  if n < 0x80 then [n.toUInt8]
  else if n < 0x800 then [(0xC0 + n / 64).toUInt8, (0x80 + n % 64).toUInt8]
  else if n < 0x10000 then
    [(0xE0 + n / 4096).toUInt8, (0x80 + n / 64 % 64).toUInt8, (0x80 + n % 64).toUInt8]
  else
    [(0xF0 + n / 262144).toUInt8, (0x80 + n / 4096 % 64).toUInt8, (0x80 + n / 64 % 64).toUInt8,
      (0x80 + n % 64).toUInt8]

/-- The bytes of a sequence of characters. -/
def encode (chars : List Char) : List UInt8 := chars.flatMap encodeChar

end ScanLauncher.Utf8
