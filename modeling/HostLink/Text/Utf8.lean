namespace HostLink
namespace Text

/-!
Characters read from bytes, one at a time.  An encoding that is longer than it need be, one
of a surrogate and one beyond the last code point are no characters.
-/

/-- The character with this code point, if there is one. -/
def charOfCode? (code : Nat) : Option Char :=
  if h : code.isValidChar then some (Char.ofNatAux code h) else none

/-- The six bits of a continuation byte. -/
def continuation? (b : UInt8) : Option Nat :=
  if 0x80 ≤ b.toNat && b.toNat < 0xC0 then some (b.toNat - 0x80) else none

/-- Joins continuation bytes to the bits read so far, most significant first. -/
def continued (bits : Nat) : List UInt8 → Option Nat
  | [] => some bits
  | b :: rest =>
      match continuation? b with
      | some low => continued (bits * 64 + low) rest
      | none => none

/-- The number of continuation bytes behind a first byte, its own bits, and the least code
point that needs so many. -/
def leadByte? (b : UInt8) : Option (Nat × Nat × Nat) :=
  if b.toNat < 0x80 then some (0, b.toNat, 0)
  else if 0xC0 ≤ b.toNat && b.toNat < 0xE0 then some (1, b.toNat - 0xC0, 0x80)
  else if 0xE0 ≤ b.toNat && b.toNat < 0xF0 then some (2, b.toNat - 0xE0, 0x800)
  else if 0xF0 ≤ b.toNat && b.toNat < 0xF8 then some (3, b.toNat - 0xF0, 0x10000)
  else none

/-- The character at the front of the bytes, and the bytes behind it. -/
def decodeChar? : List UInt8 → Option (Char × List UInt8)
  | [] => none
  | b :: rest =>
      match leadByte? b with
      | none => none
      | some (count, bits, least) =>
          if rest.length < count then none
          else
            match continued bits (rest.take count) with
            | none => none
            | some code =>
                if code < least then none
                else (charOfCode? code).map (fun c => (c, rest.drop count))

theorem decodeChar?_shorter {bytes rest : List UInt8} {c : Char}
    (h : decodeChar? bytes = some (c, rest)) : rest.length < bytes.length := by
  cases bytes with
  | nil => simp [decodeChar?] at h
  | cons b tail =>
      simp only [decodeChar?] at h
      split at h
      · cases h
      · split at h
        · cases h
        · split at h
          · cases h
          · split at h
            · cases h
            · obtain ⟨d, _, heq⟩ := Option.map_eq_some_iff.mp h
              cases heq
              simp only [List.length_drop, List.length_cons]
              omega

/-- The characters at the front of the bytes, up to the first byte that begins none. -/
def decodedStart (bytes : List UInt8) : List Char :=
  match _h : decodeChar? bytes with
  | none => []
  | some (c, rest) => c :: decodedStart rest
termination_by bytes.length
decreasing_by exact decodeChar?_shorter _h

/-- The bytes of ASCII text. -/
def asciiBytes (text : String) : List UInt8 :=
  text.toList.map (fun c => UInt8.ofNat c.toNat)

end Text
end HostLink
