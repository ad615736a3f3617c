import CityG.Capss.Field

/-!
# Hashes and deterministic randomness

The two extendable-output functions are parameters, as streams of bytes: reading
`n` bytes is reading the first `n` of the stream. All randomness of the prover is
derived from the domain separator and the statement.
-/

namespace CityG.Capss

open BitPack

structure Hashes where
  shake128 : Bytes → Nat → Byte
  blake3 : Bytes → Nat → Byte

def readXof (stream : Nat → Byte) (start len : Nat) : Bytes :=
  (List.range len).map fun i => stream (start + i)

def utf8 (s : String) : Bytes := s.toUTF8.data.toList.map fun b => Fin.ofNat 256 b.toNat

def u64Bytes (n : Nat) : Bytes := leBytes 8 n

namespace Hashes

variable (hashes : Hashes)

def deriveBytes (master label context : Bytes) (len : Nat) : Bytes :=
  readXof (hashes.blake3 (utf8 "smallwood/seed/derive" ++ master ++ u64Bytes len ++
    u64Bytes label.length ++ label ++ u64Bytes context.length ++ context)) 0 len

end Hashes

structure RoundSeeder where
  master : Bytes

variable (hashes : Hashes)

namespace RoundSeeder

def branch (seeder : RoundSeeder) (label : String) (context : Bytes) : RoundSeeder :=
  ⟨hashes.deriveBytes seeder.master (utf8 label) context 32⟩

def field (seeder : RoundSeeder) (label : String) (context : Bytes) : BaseField :=
  bytesToField (hashes.deriveBytes seeder.master (utf8 label) context 32)

end RoundSeeder

end CityG.Capss
